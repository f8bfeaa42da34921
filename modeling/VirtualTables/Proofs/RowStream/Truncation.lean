import VirtualTables.Fault
import VirtualTables.Proofs.RowStream.Extension
import VirtualTables.Proofs.RowStream.RoundTrip

/-!
Streams that are cut off.

The format delimits itself: a reader of a written item misses bytes in every proper part of the
item. A cut stream therefore hands out the rows that lie in front of the cut as a whole and then
says that it is truncated; it never takes the cut for an end.
-/

namespace VirtualTables

open RowStream

def StreamFault.truncationText : String :=
  "Truncated row stream while reading"

theorem StreamFault.isTruncation_iff (fault : StreamFault) :
    fault.isTruncation = true ↔ ∃ rest, fault.message = truncationText ++ rest := by
  constructor
  · intro truncates
    cases fault with
    | truncated item =>
        refine ⟨" " ++ item, ?_⟩
        rw [← String.append_assoc]
        rfl
    | shortItem item announced found =>
        refine ⟨" " ++ item ++ ": expected " ++ toString announced ++ " bytes, got " ++
          toString found, ?_⟩
        simp only [← String.append_assoc]
        rfl
    | _ => cases truncates
  · rintro ⟨rest, worded⟩
    have first : fault.message.toList.head? = some 'T' := by
      rw [worded, String.toList_append]
      rfl
    cases fault with
    | truncated => rfl
    | shortItem => rfl
    | broken item =>
        change ("Failed reading row stream (" ++ item ++ ")").toList.head? = _ at first
        simp at first
    | malformedText item =>
        change ("Invalid UTF-8 in " ++ item).toList.head? = _ at first
        simp at first
    | negativeCount count =>
        change ("Negative field count " ++ toString count).toList.head? = _ at first
        simp at first
    | unknownType number =>
        change ("Unknown field type id " ++ toString number).toList.head? = _ at first
        simp at first
    | negativeLength item length =>
        change ("Negative length " ++ toString length ++ " in " ++ item).toList.head? = _ at first
        simp at first
    | dateOutOfRange item millis =>
        change ("Date out of range in " ++ item ++ ": " ++ toString millis).toList.head? = _
          at first
        simp at first
    | unknownMarker byte =>
        change ("Unexpected row marker 0x" ++
          String.ofList (Text.paddedHex 2 byte.toNat)).toList.head? = _ at first
        simp at first

theorem RowStream.Reader.Reads.truncated {α : Type} {reader : Reader α} {front back : List UInt8}
    {value : α} (reads : Reader.Reads reader (front ++ back) value)
    (composed : Reader.Composed reader) (proper : back ≠ []) :
    ∃ fault, reader (.ofBytes front) = .error fault ∧ fault.isTruncation = true := by
  have whole := reads [] .ends
  rw [List.append_nil] at whole
  cases ran : reader (.ofBytes front) with
  | error fault =>
      refine ⟨fault, rfl, ?_⟩
      cases decided : fault.isTruncation with
      | true => rfl
      | false =>
          rw [composed.extends.of_error ran decided back .ends] at whole
          cases whole
  | ok pair =>
      obtain ⟨result, rest⟩ := pair
      obtain ⟨left, rfl, law⟩ := composed.extends.of_ok ran
      rw [law back .ends] at whole
      simp only [Except.ok.injEq, Prod.mk.injEq, ByteSource.mk.injEq, and_true] at whole
      exact absurd (List.append_eq_nil_iff.mp whole.2).2 proper

theorem behind_or_within {first others front back : List UInt8}
    (same : first ++ others = front ++ back) :
    (∃ left, front = first ++ left ∧ others = left ++ back) ∨
      ∃ more, more ≠ [] ∧ first = front ++ more := by
  rcases List.append_eq_append_iff.mp same with ⟨left, cut, others⟩ | ⟨more, cut, behind⟩
  · exact .inl ⟨left, cut, others⟩
  · cases more with
    | nil =>
        rw [List.append_nil] at cut
        exact .inl ⟨[], by rw [cut, List.append_nil], behind.symm⟩
    | cons byte more => exact .inr ⟨byte :: more, List.cons_ne_nil _ _, cut⟩

namespace Cursor

theorem drain_within {cursor : Cursor} {front back : List UInt8} {row? : Option Row}
    (uncapped : cursor.maxRows = 0) (opened : cursor.source? = some (.ofBytes front))
    (reads : Reader.Reads (Reader.record cursor.layout) (front ++ back) row?) (proper : back ≠ []) :
    ∃ fault, fault.isTruncation = true ∧ cursor.drain.1 = ([], some fault) := by
  rcases reads.truncated (.record _) proper with ⟨fault, ran, truncates⟩
  have step := Step.failed (atLimit_of_uncapped uncapped) opened ran
  exact ⟨fault, truncates, by rw [drain_of_error step]⟩

/-- A cursor over a cut piece of written records hands out the rows of the whole ones. -/
theorem drain_cut (cursor : Cursor) {rows : List Row} {front back : List UInt8}
    (fits : ∀ row ∈ rows, Format.RowFits cursor.layout row)
    (decodable : ∀ row ∈ rows, row.isDecodable = true) (uncapped : cursor.maxRows = 0)
    (opened : cursor.source? = some (.ofBytes front))
    (whole : rows.flatMap Format.record ++ [endMarker] = front ++ back) (proper : back ≠ []) :
    ∃ count fault, fault.isTruncation = true ∧
      cursor.drain.1 = ((rows.take count).map Row.stored, some fault) ∧
      ∀ index < rows.length,
        ((rows.take (index + 1)).flatMap Format.record).length ≤ front.length ↔ index < count := by
  induction rows generalizing cursor front with
  | nil =>
      have reads := Reader.Reads.endMarker cursor.layout
      rw [List.flatMap_nil, List.nil_append] at whole
      rw [whole] at reads
      rcases drain_within uncapped opened reads proper with ⟨fault, truncates, drained⟩
      refine ⟨0, fault, truncates, drained, ?_⟩
      intro index inside
      cases inside
  | cons row rows inductionHypothesis =>
      rw [List.forall_mem_cons] at fits decodable
      rw [List.flatMap_cons, List.append_assoc] at whole
      have reads := Reader.Reads.record fits.1 decodable.1
      rcases behind_or_within whole with ⟨left, rfl, others⟩ | ⟨more, proper, cut⟩
      · have step := Step.row (atLimit_of_uncapped uncapped) opened (reads left .ends)
        rcases inductionHypothesis
          { cursor with rowsRead := cursor.rowsRead + 1, source? := some (.ofBytes left) }
          fits.2 decodable.2 uncapped rfl others with
          ⟨count, fault, truncates, drained, counts⟩
        refine ⟨count + 1, fault, truncates, ?_, ?_⟩
        · rw [drain_of_row step]
          exact congrArg (fun drained => (row.stored :: drained.1, drained.2)) drained
        · intro index inside
          rw [List.take_succ_cons, List.flatMap_cons, List.length_append, List.length_append]
          cases index with
          | zero => simp
          | succ index =>
              have same := counts index (Nat.lt_of_succ_lt_succ inside)
              omega
      · rw [cut] at reads
        rcases drain_within uncapped opened reads proper with ⟨fault, truncates, drained⟩
        refine ⟨0, fault, truncates, drained, ?_⟩
        intro index inside
        have longer := List.length_pos_iff.mpr proper
        rw [List.take_succ_cons, List.flatMap_cons, List.length_append, cut, List.length_append]
        omega

end Cursor

/-- Where the record of a row ends in the written form of a stream. -/
def RowStream.Format.recordEnd (banner : Banner) (layout : Layout) (rows : List Row)
    (index : Nat) : Nat :=
  (head banner layout).length + ((rows.take (index + 1)).flatMap record).length

namespace Transcript

/-- The end is reported as a truncation. -/
def IsTruncated (transcript : Transcript) : Prop :=
  ∃ fault rest, transcript.fault? = some fault ∧
    fault.message = StreamFault.truncationText ++ rest

theorem isDecided_iff (transcript : Transcript) :
    transcript.IsDecided ↔ ¬ transcript.IsTruncated := by
  unfold IsDecided IsTruncated
  constructor
  · rintro decided ⟨fault, rest, failed, worded⟩
    have truncates := fault.isTruncation_iff.mpr ⟨rest, worded⟩
    rw [decided fault failed] at truncates
    cases truncates
  · intro decided fault failed
    rw [← Bool.not_eq_true]
    intro truncates
    obtain ⟨rest, worded⟩ := fault.isTruncation_iff.mp truncates
    exact decided ⟨fault, rest, failed, worded⟩

theorem ofSource_cut {banner : Banner} {layout : Layout} {rows : List Row}
    {front back : List UInt8} (writable : Format.Writable banner layout rows)
    (decodable : ∀ row ∈ rows, row.isDecodable = true)
    (whole : Format.stream banner layout rows = front ++ back) (proper : back ≠ []) :
    ∃ count fault, fault.isTruncation = true ∧
      (ofSource (.ofBytes front) 0).fault? = some fault ∧
      (ofSource (.ofBytes front) 0).rows = (rows.take count).map Row.stored ∧
      ∀ index < rows.length,
        Format.recordEnd banner layout rows index ≤ front.length ↔ index < count := by
  have reads := Reader.Reads.head writable.bannerFits writable.layoutFits
  unfold Format.stream at whole
  rcases behind_or_within whole with ⟨left, rfl, others⟩ | ⟨more, proper, cut⟩
  · rcases Cursor.drain_cut (.start (banner, layout) 0 (.ofBytes left)) writable.rowsFit
      decodable rfl rfl others proper with
      ⟨count, fault, truncates, drained, counts⟩
    have transcript : ofSource (.ofBytes (Format.head banner layout ++ left)) 0 =
        opened (banner, layout) ((rows.take count).map Row.stored, some fault) :=
      drained ▸ ofSource_of_ok 0 (reads left .ends)
    rw [transcript]
    refine ⟨count, fault, truncates, rfl, rfl, ?_⟩
    intro index inside
    rw [Format.recordEnd, List.length_append, Nat.add_le_add_iff_left]
    exact counts index inside
  · rw [cut] at reads
    obtain ⟨fault, ran, truncates⟩ := reads.truncated .head proper
    rw [ofSource_of_error 0 ran]
    refine ⟨0, fault, truncates, rfl, rfl, ?_⟩
    intro index inside
    have longer := List.length_pos_iff.mpr proper
    rw [Format.recordEnd, cut, List.length_append]
    omega

/-- What is handed out depends only on bytes that were reached.

A run that does not end as truncated is the run over any longer source. A truncated run hands out
the first rows of every longer one. And a written stream that is cut anywhere is reported as
truncated, as a fault of the protocol, behind exactly the rows whose records end before the cut. -/
theorem ofSource_delimited :
    (∀ (front more : List UInt8) (ending : ByteSource.Ending) (maxRows : Nat),
      (¬ (ofSource (.ofBytes front) maxRows).IsTruncated →
        ofSource ⟨front ++ more, ending⟩ maxRows = ofSource (.ofBytes front) maxRows) ∧
      ((ofSource (.ofBytes front) maxRows).IsTruncated →
        (ofSource (.ofBytes front) maxRows).rows <+:
          (ofSource ⟨front ++ more, ending⟩ maxRows).rows)) ∧
    (∀ (banner : Banner) (layout : Layout) (rows : List Row) (front back : List UInt8),
      encode banner layout rows = .ok (front ++ back) → back ≠ [] →
      (∀ row ∈ rows, row.isDecodable = true) →
        (ofSource (.ofBytes front) 0).IsTruncated ∧
        (∀ fault, (ofSource (.ofBytes front) 0).fault? = some fault →
          (Fault.rows fault).kind = .protocol) ∧
        ∃ count, (ofSource (.ofBytes front) 0).rows = (rows.take count).map Row.stored ∧
          ∀ index < rows.length,
            Format.recordEnd banner layout rows index ≤ front.length ↔ index < count) := by
  constructor
  · intro front more ending maxRows
    obtain ⟨rows, finish⟩ := extends_ofSource front more ending maxRows
    exact ⟨fun decided => finish ((isDecided_iff _).mpr decided), fun _ => rows⟩
  · intro banner layout rows front back encoded proper decodable
    obtain ⟨writable, whole⟩ := encode_eq_ok_iff.mp encoded
    rcases ofSource_cut writable decodable whole.symm proper with
      ⟨count, fault, truncates, failed, handedOut, counts⟩
    rcases fault.isTruncation_iff.mp truncates with ⟨rest, worded⟩
    refine ⟨⟨fault, rest, failed, worded⟩, ?_, count, handedOut, counts⟩
    intro other failedToo
    rw [failed] at failedToo
    cases failedToo
    cases fault with
    | truncated item => rfl
    | shortItem item announced found => rfl
    | _ => cases truncates

/-- A cut between the marker of the second row and its null flag leaves the first row, and a byte
that marks nothing is a fault for good. -/
theorem ofSource_delimited_within_row :
    let banner : Banner := ⟨"", "", "", "", ""⟩
    let layout : Layout := ⟨[⟨"a", .integer⟩]⟩
    let head : List UInt8 := [0, 0, 0, 0, 0, 0, 0, 0, 0, 0, 0, 0, 0, 1, 0, 0, 0, 5, 0, 1, 0x61]
    let first : List UInt8 := [1, 0, 0, 0, 0, 0, 0, 0, 0, 7]
    encode banner layout [⟨[.integer 7]⟩, ⟨[.null]⟩] = .ok (head ++ first ++ [1] ++ [1, 0]) ∧
      (ofSource (.ofBytes (head ++ first ++ [1])) 0).IsTruncated ∧
      (ofSource (.ofBytes (head ++ first ++ [1])) 0).rows = [⟨[.integer 7]⟩] ∧
      ¬ (ofSource (.ofBytes (head ++ [9])) 3).IsTruncated ∧
      ofSource ⟨head ++ [9] ++ first, .breaks⟩ 3 =
        ⟨some (banner, layout), [], some (.unknownMarker 9)⟩ := by
  intro banner layout head first
  have encoded :
      encode banner layout [⟨[.integer 7]⟩, ⟨[.null]⟩] = .ok (head ++ first ++ [1] ++ [1, 0]) := by
    decide +kernel
  have decodable : ∀ row ∈ [(⟨[.integer 7]⟩ : Row), ⟨[.null]⟩], row.isDecodable = true := by decide
  rcases ofSource_delimited.2 banner layout _ _ [1, 0] encoded (by decide) decodable with
    ⟨truncated, _, count, handedOut, counts⟩
  have whole : 0 < count := (counts 0 (by decide)).mp (by decide +kernel)
  have partly : ¬ 1 < count := by
    intro inside
    exact absurd ((counts 1 (by decide)).mpr inside) (by decide)
  obtain rfl : count = 1 := by omega
  have strange : ofSource (.ofBytes (head ++ [9])) 3 =
      ⟨some (banner, layout), [], some (.unknownMarker 9)⟩ := by decide +kernel
  have decided : ¬ (ofSource (.ofBytes (head ++ [9])) 3).IsTruncated := by
    rw [← isDecided_iff, strange]
    rintro fault failed
    cases failed
    rfl
  refine ⟨encoded, truncated, handedOut, decided, ?_⟩
  rw [← strange]
  exact (ofSource_delimited.1 (head ++ [9]) first .breaks 3).1 decided

end Transcript

end VirtualTables
