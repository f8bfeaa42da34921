import VirtualTables.Proofs.RowStream.Offering
import VirtualTables.Proofs.RowStream.Truncation

/-!
Writing to sinks that fill up.

A sink of limited room holds the first bytes of all that it was offered, wherever one write ended
and the next began; `Sink.filled` is that sink. What is written behind the point where the room ends
fails and leaves no byte, so the remains are a cut stream.
-/

namespace VirtualTables.RowStream

/-- A sink for a number of bytes, after some bytes were offered to it. -/
def Sink.filled (room : Nat) (offered : List UInt8) : Sink :=
  ⟨offered.take room, some (room - offered.length)⟩

theorem Sink.ofRoom_eq_filled (room : Nat) : ofRoom (some room) = filled room [] := by
  simp [ofRoom, filled]

def Sink.outcome (room : Nat) (offered : List UInt8) : Except WriteFault Unit :=
  if offered.length ≤ room then .ok () else .error .noRoom

namespace Recording

variable {action : Recording Unit} {condition : Prop} {bytes : List UInt8}

theorem run_write_filled (room : Nat) (offered : List UInt8) (nonempty : bytes ≠ []) :
    (write bytes).run (.filled room offered) =
      (Sink.outcome room (offered ++ bytes), .filled room (offered ++ bytes)) := by
  have positive := List.length_pos_iff.mpr nonempty
  have crosses : room - offered.length < bytes.length ↔ ¬ (offered ++ bytes).length ≤ room := by
    rw [List.length_append]
    omega
  rw [Sink.filled, run_write_limited, Sink.outcome, Sink.filled, List.take_append,
    List.length_append, Nat.sub_sub, ← List.length_append]
  simp only [crosses, ite_not]

theorem Writes.run_filled (writes : Writes action condition bytes) (holds : condition)
    (nonempty : bytes ≠ []) (room : Nat) (offered : List UInt8) :
    action.run (.filled room offered) =
      (Sink.outcome room (offered ++ bytes), .filled room (offered ++ bytes)) := by
  rw [writes.eq_write holds, run_write_filled room offered nonempty]

end Recording

theorem Format.head_ne_nil (banner : Banner) (layout : Layout) : head banner layout ≠ [] := by
  apply List.ne_nil_of_length_pos
  simp only [head, Format.banner, shortText, List.length_append, length_bytesOfNat]
  omega

namespace Writer

/-- The bytes that reach a sink when a stream of rows is written to it. -/
def reached (banner : Banner) (layout : Layout) (rows : List Row) (sink : Sink) : List UInt8 :=
  match ofSink banner layout sink with
  | .error _ =>
      ((do Recording.banner banner; Recording.layout layout : Recording Unit).run sink).2.written
  | .ok writer => (Recording.finish.run (writer.offerAll rows).sink).2.written

section Filled

variable {banner : Banner} {layout : Layout} {room : Nat}

theorem run_head_filled (bannerFits : Format.BannerFits banner)
    (layoutFits : Format.LayoutFits layout) (room : Nat) :
    (do Recording.banner banner; Recording.layout layout : Recording Unit).run
        (.ofRoom (some room)) =
      (Sink.outcome room (Format.head banner layout),
        .filled room (Format.head banner layout)) := by
  have writes := (Recording.Writes.banner banner).andThen (Recording.Writes.layout layout)
  rw [Sink.ofRoom_eq_filled]
  exact writes.run_filled ⟨bannerFits, layoutFits⟩ (Format.head_ne_nil banner layout) room []

theorem ofSink_full (bannerFits : Format.BannerFits banner) (layoutFits : Format.LayoutFits layout)
    (full : room < (Format.head banner layout).length) :
    ofSink banner layout (.ofRoom (some room)) = .error .noRoom := by
  rw [ofSink, run_head_filled bannerFits layoutFits, Sink.outcome, if_neg (Nat.not_le.mpr full)]

theorem ofSink_filled (bannerFits : Format.BannerFits banner)
    (layoutFits : Format.LayoutFits layout) (enough : (Format.head banner layout).length ≤ room) :
    ofSink banner layout (.ofRoom (some room)) =
      .ok ⟨layout, .filled room (Format.head banner layout), 0⟩ := by
  rw [ofSink, run_head_filled bannerFits layoutFits, Sink.outcome, if_pos enough]

theorem offer_filled {row : Row} (offered : List UInt8) (count : Nat) (suits : layout.Suits row)
    (countable : ∀ cell ∈ row.cells, Format.CellFits cell) :
    offer ⟨layout, .filled room offered, count⟩ row =
      (Sink.outcome room (offered ++ Format.record row),
        ⟨layout, .filled room (offered ++ Format.record row),
          if (offered ++ Format.record row).length ≤ room then count + 1 else count⟩) := by
  have fits : Format.RowFits layout row := ⟨Layout.accepts_iff.mpr suits, countable⟩
  rw [offer, (Recording.Writes.row layout row).run_filled fits (List.cons_ne_nil _ _), Sink.outcome]
  by_cases enough : (offered ++ Format.record row).length ≤ room
  · rw [if_pos enough, if_pos enough]
  · rw [if_neg enough, if_neg enough]

theorem finish_filled (offered : List UInt8) (count : Nat) :
    finish ⟨layout, .filled room offered, count⟩ =
      if (offered ++ [endMarker]).length ≤ room then .ok (offered ++ [endMarker])
      else .error .noRoom := by
  have ran := Recording.run_write_filled room offered (List.cons_ne_nil endMarker [])
  rw [finish, Recording.finish, ran, Sink.outcome]
  by_cases enough : (offered ++ [endMarker]).length ≤ room
  · rw [if_pos enough, if_pos enough, Sink.filled, List.take_of_length_le enough]
  · rw [if_neg enough, if_neg enough]

/-- A number of rows, of which exactly the first have records that end within the room. -/
structure Fitting (room : Nat) (offered : List UInt8) (rows : List Row) (count : Nat) : Prop where
  le_length : count ≤ rows.length
  iff_lt : ∀ index < rows.length,
    (offered ++ (rows.take (index + 1)).flatMap Format.record).length ≤ room ↔ index < count

namespace Fitting

variable {offered : List UInt8} {row : Row} {rows : List Row} {count : Nat}

theorem cons (fitting : Fitting room (offered ++ Format.record row) rows count)
    (enough : (offered ++ Format.record row).length ≤ room) :
    Fitting room offered (row :: rows) (count + 1) := by
  refine ⟨Nat.succ_le_succ fitting.le_length, ?_⟩
  intro index inside
  rw [List.take_succ_cons, List.flatMap_cons, ← List.append_assoc]
  cases index with
  | zero => simpa using enough
  | succ index =>
      rw [fitting.iff_lt index (Nat.lt_of_succ_lt_succ inside)]
      exact Nat.succ_lt_succ_iff.symm

theorem nothing (full : ¬ (offered ++ Format.record row).length ≤ room) :
    Fitting room offered (row :: rows) 0 := by
  refine ⟨Nat.zero_le _, ?_⟩
  intro index _
  rw [List.take_succ_cons, List.flatMap_cons, ← List.append_assoc, List.length_append]
  omega

theorem unique {other : Nat} (fitting : Fitting room offered rows count)
    (alike : ∀ index < rows.length,
      (offered ++ (rows.take (index + 1)).flatMap Format.record).length ≤ room ↔ index < other) :
    rows.take other = rows.take count := by
  have within := fitting.le_length
  rw [List.take_eq_take_iff]
  rcases Nat.lt_trichotomy count other with less | rfl | greater
  · rcases Nat.lt_or_ge count rows.length with inside | outside
    · have := (fitting.iff_lt count inside).mp ((alike count inside).mpr less)
      omega
    · omega
  · rfl
  · have inside : other < rows.length := by omega
    have := (alike other inside).mp ((fitting.iff_lt other inside).mpr greater)
    omega

end Fitting

theorem offerAll_filled {rows : List Row} (layout : Layout) (room : Nat) (offered : List UInt8)
    (count : Nat)
    (countable : ∀ row ∈ rows, ∀ cell ∈ row.cells, Format.CellFits cell) :
    ∃ more, Fitting room offered (rows.filter layout.Suits) more ∧
      offerAll ⟨layout, .filled room offered, count⟩ rows =
        ⟨layout, .filled room (offered ++ (rows.filter layout.Suits).flatMap Format.record),
          count + more⟩ := by
  induction rows generalizing offered count with
  | nil => exact ⟨0, ⟨Nat.le_refl _, nofun⟩, by simp [offerAll]⟩
  | cons row rows inductionHypothesis =>
      rw [List.forall_mem_cons] at countable
      by_cases suits : layout.Suits row
      · rw [offerAll_cons, offer_filled offered count suits countable.1,
          List.filter_cons_of_pos (by simpa using suits), List.flatMap_cons, ← List.append_assoc]
        rcases inductionHypothesis (offered ++ Format.record row)
          (if (offered ++ Format.record row).length ≤ room then count + 1 else count)
          countable.2 with ⟨more, fitting, stands⟩
        rw [stands]
        by_cases enough : (offered ++ Format.record row).length ≤ room
        · rw [if_pos enough]
          exact ⟨more + 1, fitting.cons enough, by rw [Nat.add_right_comm, Nat.add_assoc]⟩
        · refine ⟨0, .nothing enough, ?_⟩
          -- The records behind one that crosses the limit end behind the limit as well.
          have uncounted : more = 0 := by
            by_contra counted
            have within := fitting.le_length
            have ends := (fitting.iff_lt 0 (by omega)).mpr (by omega)
            rw [List.length_append] at ends
            omega
          rw [if_neg enough, uncounted]
      · obtain ⟨fault, refused, -⟩ := Recording.check_eq_error suits
        rw [offerAll_cons, offer_of_refused refused, List.filter_cons_of_neg (by simpa using suits)]
        exact inductionHypothesis offered count countable.2

/-- What reaches a sink is the beginning of the stream, as far as there is room. -/
theorem reached_filled {rows : List Row} (bannerFits : Format.BannerFits banner)
    (layoutFits : Format.LayoutFits layout)
    (countable : ∀ row ∈ rows, ∀ cell ∈ row.cells, Format.CellFits cell) :
    reached banner layout rows (.ofRoom (some room)) =
      (Format.stream banner layout (rows.filter layout.Suits)).take room := by
  rw [reached, Format.stream]
  rcases Nat.lt_or_ge room (Format.head banner layout).length with full | enough
  · rw [ofSink_full bannerFits layoutFits full, run_head_filled bannerFits layoutFits,
      List.take_append_of_le_length (Nat.le_of_lt full)]
    rfl
  · rcases offerAll_filled layout room (Format.head banner layout) 0 countable with
      ⟨more, -, stands⟩
    simp only [ofSink_filled bannerFits layoutFits enough, stands]
    rw [Recording.finish, Recording.run_write_filled _ _ (List.cons_ne_nil endMarker []),
      List.append_assoc]
    rfl

/-- Behind any rows, a row is refused as it is without a limit, and fails for want of room exactly
if its record ends behind the limit. -/
theorem offer_behind {front : List Row} {row : Row} (layout : Layout) (room : Nat)
    (head : List UInt8)
    (countable : ∀ row ∈ front, ∀ cell ∈ row.cells, Format.CellFits cell)
    (countableRow : ∀ cell ∈ row.cells, Format.CellFits cell) :
    let before := offerAll ⟨layout, .filled room head, 0⟩ front
    let unlimited := (offerAll ⟨layout, ⟨head, none⟩, 0⟩ front).offer row
    (layout.Suits row → unlimited.1 = .ok () ∧
      unlimited.2.sink.written =
        head ++ (front.filter layout.Suits).flatMap Format.record ++ Format.record row ∧
      (before.offer row).1 = Sink.outcome room unlimited.2.sink.written) ∧
    (¬ layout.Suits row → ∃ fault, fault.kind = .invalidInput ∧
      unlimited.1 = .error fault ∧ before.offer row = (.error fault, before)) := by
  rcases offerAll_filled layout room head 0 countable with ⟨more, -, stands⟩
  rw [stands, offerAll_unlimited head 0 countable, offer_unlimited _ _ countableRow]
  constructor
  · intro suits
    rw [if_pos suits, offer_filled _ _ suits countableRow]
    exact ⟨Recording.check_eq_ok suits, rfl, rfl⟩
  · intro unsuited
    obtain ⟨fault, refused, kind⟩ := Recording.check_eq_error unsuited
    exact ⟨fault, kind, refused, offer_of_refused refused⟩

theorem exists_fitting {rows : List Row} (bannerFits : Format.BannerFits banner)
    (layoutFits : Format.LayoutFits layout)
    (countable : ∀ row ∈ rows, ∀ cell ∈ row.cells, Format.CellFits cell) :
    ∃ count, Fitting room (Format.head banner layout) (rows.filter layout.Suits) count ∧
      ∀ writer, ofSink banner layout (.ofRoom (some room)) = .ok writer →
        (writer.offerAll rows).rowsWritten = count := by
  rcases Nat.lt_or_ge room (Format.head banner layout).length with full | enough
  · refine ⟨0, ⟨Nat.zero_le _, ?_⟩, ?_⟩
    · intro index _
      rw [List.length_append]
      omega
    · intro writer opened
      rw [ofSink_full bannerFits layoutFits full] at opened
      cases opened
  · rcases offerAll_filled layout room (Format.head banner layout) 0 countable with
      ⟨count, fitting, stands⟩
    refine ⟨count, fitting, ?_⟩
    intro writer opened
    rw [ofSink_filled bannerFits layoutFits enough] at opened
    cases opened
    rw [stands, Nat.zero_add]

theorem Fitting.ofSource {rows : List Row} {count : Nat}
    (fitting : Fitting room (Format.head banner layout) rows count)
    (writable : Format.Writable banner layout rows)
    (decodable : ∀ row ∈ rows, row.isDecodable = true)
    (short : room < (Format.stream banner layout rows).length) :
    let remains := (Format.stream banner layout rows).take room
    (Transcript.ofSource (.ofBytes remains) 0).rows = (rows.take count).map Row.stored ∧
      (Transcript.ofSource (.ofBytes remains) 0).IsTruncated := by
  intro remains
  have proper : (Format.stream banner layout rows).drop room ≠ [] := by simpa using short
  have size : remains.length = room := List.length_take_of_le (Nat.le_of_lt short)
  rcases Transcript.ofSource_cut writable decodable (List.take_append_drop room _).symm proper with
    ⟨other, fault, truncates, failed, handedOut, counts⟩
  rcases fault.isTruncation_iff.mp truncates with ⟨rest, worded⟩
  refine ⟨?_, fault, rest, failed, worded⟩
  rw [handedOut, fitting.unique]
  intro index inside
  rw [← counts index inside, Format.recordEnd, List.length_append, size]

end Filled

/-- A run on a sink of limited room is the unlimited run cut off where the room ends.

The bytes that reach the sink are the first ones of the whole stream. Opening, a row that suits the
layout and the end of the rows have no room exactly if their last byte lies behind the limit, and a
row that does not suit is refused as it is without a limit. The rows that are counted are those
whose records end within the limit, and they are what reading the remains hands out in front of a
truncation. -/
theorem offerAll_limited {banner : Banner} {layout : Layout} {rows : List Row} {full : Writer}
    (countable : ∀ row ∈ rows, ∀ cell ∈ row.cells, Format.CellFits cell)
    (opened : ofSink banner layout .unlimited = .ok full) :
    ∃ whole, (full.offerAll rows).finish = .ok whole ∧ full.sink.written <+: whole ∧ ∀ room,
      let limited := ofSink banner layout (.ofRoom (some room))
      let remains := reached banner layout rows (.ofRoom (some room))
      let accepted := rows.filter layout.Suits
      remains = whole.take room ∧
      (room < full.sink.written.length → limited = .error .noRoom) ∧
      (full.sink.written.length ≤ room → ∃ writer, limited = .ok writer ∧
        (∀ front row back, rows = front ++ row :: back →
          let before := writer.offerAll front
          let unlimited := (full.offerAll front).offer row
          (layout.Suits row → unlimited.1 = .ok () ∧ unlimited.2.sink.written <+: whole ∧
            (before.offer row).1 = Sink.outcome room unlimited.2.sink.written) ∧
          (¬ layout.Suits row → ∃ fault, fault.kind = .invalidInput ∧
            unlimited.1 = .error fault ∧ before.offer row = (.error fault, before))) ∧
        (writer.offerAll rows).finish =
          if whole.length ≤ room then .ok whole else .error .noRoom) ∧
      ∃ count ≤ accepted.length,
        (∀ index < accepted.length,
          Format.recordEnd banner layout accepted index ≤ room ↔ index < count) ∧
        (∀ writer, limited = .ok writer → (writer.offerAll rows).rowsWritten = count) ∧
        (room < whole.length → (∀ row ∈ accepted, row.isDecodable = true) →
          (Transcript.ofSource (.ofBytes remains) 0).rows = (accepted.take count).map Row.stored ∧
          (Transcript.ofSource (.ofBytes remains) 0).IsTruncated) := by
  obtain ⟨⟨bannerFits, layoutFits⟩, rfl⟩ := ofSink_unlimited_iff.mp opened
  have writable := Format.writable_of_suits bannerFits layoutFits
    (fun row inside => countable row (List.mem_filter.mp inside).1)
    (fun row inside => of_decide_eq_true (List.mem_filter.mp inside).2)
  refine ⟨Format.stream banner layout (rows.filter layout.Suits), ?_, ⟨_, rfl⟩, ?_⟩
  · rw [offerAll_unlimited _ _ countable, Format.stream, ← List.append_assoc]
    rfl
  · intro room limited remains accepted
    have reaches : remains = _ := reached_filled bannerFits layoutFits countable
    refine ⟨reaches, ofSink_full bannerFits layoutFits, ?_, ?_⟩
    · intro enough
      refine ⟨_, ofSink_filled bannerFits layoutFits enough, ?_, ?_⟩
      · rintro front row back rfl before unlimited
        rw [List.forall_mem_append, List.forall_mem_cons] at countable
        obtain ⟨suited, refused⟩ := offer_behind layout room (Format.head banner layout)
          countable.1 countable.2.1
        refine ⟨?_, refused⟩
        intro suits
        obtain ⟨accepts, written, outcome⟩ := suited suits
        refine ⟨accepts, ?_, outcome⟩
        rw [written, Format.stream, List.filter_append,
          List.filter_cons_of_pos (by simpa using suits)]
        simp
      · rcases offerAll_filled layout room (Format.head banner layout) 0 countable with
          ⟨more, -, stands⟩
        rw [stands, finish_filled, Format.stream, List.append_assoc]
    · rcases exists_fitting bannerFits layoutFits countable with ⟨count, fitting, counts⟩
      refine ⟨count, fitting.le_length, ?_, counts, ?_⟩
      · intro index inside
        rw [Format.recordEnd, ← List.length_append]
        exact fitting.iff_lt index inside
      · intro short decodable
        rw [reaches]
        exact fitting.ofSource writable decodable short

/-- The room ends within the second of three records. Null behind it would still fit but is not
written, and the remains hand out the first row alone. -/
theorem offerAll_limited_within_record :
    let banner : Banner := ⟨"", "", "", "", ""⟩
    let layout : Layout := ⟨[⟨"a", .integer⟩]⟩
    let rows : List Row := [⟨[.integer 7]⟩, ⟨[.string "x"]⟩, ⟨[.integer 8]⟩, ⟨[.null]⟩]
    let head : List UInt8 := [0, 0, 0, 0, 0, 0, 0, 0, 0, 0, 0, 0, 0, 1, 0, 0, 0, 5, 0, 1, 0x61]
    let remains := head ++ [1, 0, 0, 0, 0, 0, 0, 0, 0, 7] ++ [1, 0]
    (∀ row ∈ rows, ∀ cell ∈ row.cells, Format.CellFits cell) ∧
      (∃ full, ofSink banner layout .unlimited = .ok full) ∧
      reached banner layout rows (.ofRoom (some 33)) = remains ∧
      (∃ writer, ofSink banner layout (.ofRoom (some 33)) = .ok writer ∧
        (writer.offerAll rows).rowsWritten = 1 ∧
        (writer.offerAll rows).finish = .error .noRoom) ∧
      (Transcript.ofSource (.ofBytes remains) 0).rows = [⟨[.integer 7]⟩] ∧
      (Transcript.ofSource (.ofBytes remains) 0).IsTruncated := by
  intro banner layout rows head remains
  have countable : ∀ row ∈ rows, ∀ cell ∈ row.cells, Format.CellFits cell := by decide +kernel
  have bannerFits : Format.BannerFits banner := by constructor <;> decide
  have layoutFits : Format.LayoutFits layout := ⟨by decide, by decide +kernel⟩
  have opened := ofSink_unlimited_iff.mpr ⟨⟨bannerFits, layoutFits⟩, rfl⟩
  rcases offerAll_limited countable opened with ⟨whole, finished, -, limited⟩
  obtain ⟨reaches, -, opens, count, within, ends, counts, handsOut⟩ := limited 33
  have accepted : rows.filter layout.Suits = [⟨[.integer 7]⟩, ⟨[.integer 8]⟩, ⟨[.null]⟩] := by
    decide
  have whole_eq : whole = remains ++ [0, 0, 0, 0, 0, 0, 0, 8] ++ [1, 1] ++ [0] := by
    rw [offerAll_unlimited _ _ countable, accepted] at finished
    exact (Except.ok.inj finished).symm.trans (by decide +kernel)
  rw [accepted] at within ends handsOut
  have one : count = 1 := by
    have first := (ends 0 (by decide)).mp (by decide +kernel)
    have second := mt (ends 1 (by decide)).mpr (by decide +kernel)
    omega
  obtain ⟨writer, openedToo, -, finish⟩ := opens (by decide +kernel)
  rw [whole_eq] at reaches finish handsOut
  have remains_eq : reached banner layout rows (.ofRoom (some 33)) = remains := reaches
  rw [remains_eq, one] at handsOut
  obtain ⟨handedOut, truncated⟩ := handsOut (by decide) (by decide)
  exact ⟨countable, ⟨_, opened⟩, remains_eq,
    ⟨writer, openedToo, (counts writer openedToo).trans one, finish⟩, handedOut, truncated⟩

end Writer

end VirtualTables.RowStream
