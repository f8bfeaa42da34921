import VirtualTables.Proofs.RowStream.Writing

/-!
Rows that are offered to a writer one after another, the refused ones included.

A row is checked before its first byte is written. So a refused row leaves the writer as it was, and
a writer that was offered any rows stands where it would if only the accepted ones had been offered.
-/

namespace VirtualTables

/-- A row has a cell for every column, and each is null or of the type of its column. -/
structure Layout.Suits (layout : Layout) (row : Row) : Prop where
  arity : row.cells.length = layout.size
  typed : ∀ pair ∈ layout.columns.zip row.cells, pair.2 = .null ∨ pair.2.type? = some pair.1.type

theorem Layout.accepts_iff {layout : Layout} {row : Row} :
    layout.accepts row = true ↔ layout.Suits row := by
  simp only [accepts, Bool.and_eq_true, beq_iff_eq, List.all_eq_true, CellType.fits_iff]
  exact ⟨fun accepted => ⟨accepted.1, accepted.2⟩, fun suits => ⟨suits.arity, suits.typed⟩⟩

instance (layout : Layout) (row : Row) : Decidable (layout.Suits row) :=
  decidable_of_iff _ Layout.accepts_iff

namespace RowStream

theorem Recording.check_eq_ok {layout : Layout} {row : Row} (suits : layout.Suits row) :
    check layout row = .ok () :=
  (check_eq_ok_iff layout row).mpr (Layout.accepts_iff.mpr suits)

theorem Recording.check_eq_error {layout : Layout} {row : Row} (unsuited : ¬ layout.Suits row) :
    ∃ fault, check layout row = .error fault ∧ fault.kind = .invalidInput := by
  cases checked : check layout row with
  | ok _ => exact absurd (Layout.accepts_iff.mp ((check_eq_ok_iff layout row).mp checked)) unsuited
  | error fault =>
      refine ⟨fault, rfl, ?_⟩
      -- The check fails for the number of cells or for one of them, and never for want of room.
      unfold check at checked
      by_cases arity : row.cells.length ≠ layout.size
      · rw [if_pos arity] at checked
        cases checked
        rfl
      · rw [if_neg arity] at checked
        dsimp only at checked
        split at checked
        · cases checked
          rfl
        · cases checked

theorem Format.writable_of_suits {banner : Banner} {layout : Layout} {rows : List Row}
    (bannerFits : BannerFits banner) (layoutFits : LayoutFits layout)
    (countable : ∀ row ∈ rows, ∀ cell ∈ row.cells, CellFits cell)
    (suits : ∀ row ∈ rows, layout.Suits row) : Writable banner layout rows := by
  refine ⟨bannerFits, layoutFits, ?_⟩
  intro row inside
  exact ⟨Layout.accepts_iff.mpr (suits row inside), countable row inside⟩

namespace Writer

/-- Offer rows one after another, going on behind those that fail. -/
def offerAll (writer : Writer) (rows : List Row) : Writer :=
  rows.foldl (fun writer row => (writer.offer row).2) writer

theorem offerAll_cons (writer : Writer) (row : Row) (rows : List Row) :
    writer.offerAll (row :: rows) = (writer.offer row).2.offerAll rows :=
  rfl

theorem offer_of_refused {writer : Writer} {row : Row} {fault : WriteFault}
    (refused : Recording.check writer.layout row = .error fault) :
    writer.offer row = (.error fault, writer) := by
  have ran : (Recording.row writer.layout row).run writer.sink = (.error fault, writer.sink) := by
    rw [Recording.row, refused]
    rfl
  rw [offer, ran]

theorem offer_unlimited {layout : Layout} {row : Row} (written : List UInt8) (count : Nat)
    (countable : ∀ cell ∈ row.cells, Format.CellFits cell) :
    offer ⟨layout, ⟨written, none⟩, count⟩ row = (Recording.check layout row,
      if layout.Suits row then ⟨layout, ⟨written ++ Format.record row, none⟩, count + 1⟩
      else ⟨layout, ⟨written, none⟩, count⟩) := by
  by_cases suits : layout.Suits row
  · have fits : Format.RowFits layout row := ⟨Layout.accepts_iff.mpr suits, countable⟩
    rw [offer, (Recording.Writes.row layout row).eq_write fits, Recording.check_eq_ok suits,
      if_pos suits]
    rfl
  · obtain ⟨fault, refused, -⟩ := Recording.check_eq_error suits
    rw [offer_of_refused refused, refused, if_neg suits]

theorem offerAll_unlimited {layout : Layout} {rows : List Row} (written : List UInt8) (count : Nat)
    (countable : ∀ row ∈ rows, ∀ cell ∈ row.cells, Format.CellFits cell) :
    offerAll ⟨layout, ⟨written, none⟩, count⟩ rows =
      ⟨layout, ⟨written ++ (rows.filter layout.Suits).flatMap Format.record, none⟩,
        count + (rows.filter layout.Suits).length⟩ := by
  induction rows generalizing written count with
  | nil =>
      rw [List.filter_nil, List.flatMap_nil, List.append_nil]
      rfl
  | cons row rows inductionHypothesis =>
      rw [List.forall_mem_cons] at countable
      rw [offerAll_cons, offer_unlimited written count countable.1]
      by_cases suits : layout.Suits row
      · rw [if_pos suits, List.filter_cons_of_pos (by simpa using suits),
          inductionHypothesis _ _ countable.2, List.flatMap_cons, List.append_assoc,
          List.length_cons, Nat.add_right_comm, Nat.add_assoc]
      · rw [if_neg suits, List.filter_cons_of_neg (by simpa using suits),
          inductionHypothesis _ _ countable.2]

theorem ofSink_unlimited_iff {banner : Banner} {layout : Layout} {writer : Writer} :
    ofSink banner layout .unlimited = .ok writer ↔
      (Format.BannerFits banner ∧ Format.LayoutFits layout) ∧
        writer = ⟨layout, ⟨Format.head banner layout, none⟩, 0⟩ := by
  have writes := (Recording.Writes.banner banner).andThen (Recording.Writes.layout layout)
  constructor
  · intro opened
    unfold ofSink at opened
    split at opened
    · cases opened
    · next sink ran =>
        obtain ⟨fits, rfl⟩ := writes.run_unlimited_iff.mp ran
        cases opened
        exact ⟨fits, rfl⟩
  · rintro ⟨fits, rfl⟩
    rw [ofSink, writes.run_unlimited_iff.mpr ⟨fits, rfl⟩]
    rfl

theorem exists_encode_iff {banner : Banner} {layout : Layout} {rows : List Row}
    (bannerFits : Format.BannerFits banner) (layoutFits : Format.LayoutFits layout)
    (countable : ∀ row ∈ rows, ∀ cell ∈ row.cells, Format.CellFits cell) :
    (∃ bytes, encode banner layout rows = .ok bytes) ↔ ∀ row ∈ rows, layout.Suits row := by
  constructor
  · rintro ⟨bytes, encoded⟩ row inside
    have fits := (encode_eq_ok_iff.mp encoded).1.rowsFit row inside
    exact Layout.accepts_iff.mp fits.accepted
  · intro suits
    exact ⟨_, encode_eq_ok_iff.mpr
      ⟨Format.writable_of_suits bannerFits layoutFits countable suits, rfl⟩⟩

/-- On a sink of unlimited room exactly the rows that do not suit the layout are refused. They
leave the writer as it was, so that in the end the sink holds what encoding the others gives. -/
theorem offerAll_encode (banner : Banner) (layout : Layout) {rows : List Row}
    (countable : ∀ row ∈ rows, ∀ cell ∈ row.cells, Format.CellFits cell) :
    ((∃ writer, ofSink banner layout .unlimited = .ok writer) ↔
      Format.BannerFits banner ∧ Format.LayoutFits layout) ∧
    ∀ writer, ofSink banner layout .unlimited = .ok writer →
      (∀ front row back, rows = front ++ row :: back →
        let before := writer.offerAll front
        (layout.Suits row → (before.offer row).1 = .ok ()) ∧
          (¬ layout.Suits row → ∃ fault, fault.kind = .invalidInput ∧
            before.offer row = (.error fault, before))) ∧
      (writer.offerAll rows).rowsWritten = (rows.filter layout.Suits).length ∧
      (∃ bytes, (writer.offerAll rows).finish = .ok bytes ∧
        encode banner layout (rows.filter layout.Suits) = .ok bytes) ∧
      ((∃ bytes, encode banner layout rows = .ok bytes) ↔ ∀ row ∈ rows, layout.Suits row) := by
  constructor
  · simp only [ofSink_unlimited_iff, exists_and_left, exists_eq, and_true]
  · intro writer opened
    obtain ⟨⟨bannerFits, layoutFits⟩, rfl⟩ := ofSink_unlimited_iff.mp opened
    refine ⟨?_, ?_, ?_, ?_⟩
    · rintro front row back rfl before
      rw [List.forall_mem_append, List.forall_mem_cons] at countable
      have before_eq : before = _ := offerAll_unlimited (Format.head banner layout) 0 countable.1
      rw [before_eq, offer_unlimited _ _ countable.2.1]
      refine ⟨Recording.check_eq_ok, ?_⟩
      intro unsuited
      obtain ⟨fault, refused, kind⟩ := Recording.check_eq_error unsuited
      exact ⟨fault, kind, by rw [refused, if_neg unsuited]⟩
    · rw [offerAll_unlimited _ _ countable, Nat.zero_add]
    · rw [offerAll_unlimited _ _ countable]
      have writable := Format.writable_of_suits bannerFits layoutFits
        (fun row inside => countable row (List.mem_filter.mp inside).1)
        (fun row inside => of_decide_eq_true (List.mem_filter.mp inside).2)
      exact ⟨_, rfl, encode_eq_ok_iff.mpr ⟨writable, by rw [Format.stream, List.append_assoc]⟩⟩
    · exact exists_encode_iff bannerFits layoutFits countable

/-- A text where an integer belongs and a row without cells are refused between rows that are
written. -/
theorem offerAll_encode_between :
    let banner : Banner := ⟨"", "", "", "", ""⟩
    let layout : Layout := ⟨[⟨"a", .integer⟩]⟩
    let rows : List Row := [⟨[.integer 7]⟩, ⟨[.string "x"]⟩, ⟨[]⟩, ⟨[.null]⟩]
    let head : List UInt8 := [0, 0, 0, 0, 0, 0, 0, 0, 0, 0, 0, 0, 0, 1, 0, 0, 0, 5, 0, 1, 0x61]
    (∀ row ∈ rows, ∀ cell ∈ row.cells, Format.CellFits cell) ∧
      ∃ writer, ofSink banner layout .unlimited = .ok writer ∧
        (writer.offerAll rows).rowsWritten = 2 ∧
        (writer.offerAll rows).finish =
          .ok (head ++ [1, 0, 0, 0, 0, 0, 0, 0, 0, 7] ++ [1, 1] ++ [0]) ∧
        ¬ ∃ bytes, encode banner layout rows = .ok bytes := by
  intro banner layout rows head
  have countable : ∀ row ∈ rows, ∀ cell ∈ row.cells, Format.CellFits cell := by decide +kernel
  have bannerFits : Format.BannerFits banner := by constructor <;> decide
  have layoutFits : Format.LayoutFits layout := ⟨by decide, by decide +kernel⟩
  obtain ⟨opens, offered⟩ := offerAll_encode banner layout countable
  obtain ⟨writer, opened⟩ := opens.mpr ⟨bannerFits, layoutFits⟩
  obtain ⟨_, counts, ⟨bytes, finished, encoded⟩, whole⟩ := offered writer opened
  have chosen : rows.filter layout.Suits = [⟨[.integer 7]⟩, ⟨[.null]⟩] := by decide
  have written : encode banner layout [⟨[.integer 7]⟩, ⟨[.null]⟩] =
      .ok (head ++ [1, 0, 0, 0, 0, 0, 0, 0, 0, 7] ++ [1, 1] ++ [0]) := by decide +kernel
  rw [chosen] at counts encoded
  refine ⟨countable, writer, opened, counts, ?_, ?_⟩
  · rw [finished, ← encoded, written]
  · rw [whole]
    decide

end Writer

end RowStream

end VirtualTables
